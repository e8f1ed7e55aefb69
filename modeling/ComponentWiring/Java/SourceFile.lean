/-
ComponentWiring.Java.SourceFile — a source file with its one top-level type.
-/
import ComponentWiring.Java.References
import ComponentWiring.Path

namespace ComponentWiring.Java

/-- A source file: its package, its type, and a comment above all else. -/
structure SourceFile where
  package : String
  type : TypeDecl
  comment : Option String := none
deriving Inhabited

namespace SourceFile

/-- The class of the file's type. -/
def className (f : SourceFile) : ClassName := ⟨f.package, f.type.name, []⟩

/-- The path of the file below a source root: a directory for each segment of the package. -/
def path (f : SourceFile) : Path :=
  let folders := (Text.dotSegments f.package).filter (!·.isEmpty)
  (Path.ofSteps folders).join ⟨f.type.name ++ ".java"⟩

/-- The classes the file refers to, and its own. -/
def references (f : SourceFile) : List ClassName := f.type.references ++ [f.className]

end SourceFile

end ComponentWiring.Java
